import Mathlib.Algebra.Order.Star.Real
import CurveFitting.Proofs.Exact.Elimination

/-! # Inverses on exact numbers

Substitution into a triangular factor solves its linear system, so the inverse of a
full Hessian is its inverse matrix.
-/

namespace CurveFitting.Exact

open Matrix

variable {n count : Nat} {entries upper : Matrix (Fin n) (Fin n) ℝ}

/-- The rows of an upper triangular matrix with a positive diagonal are the columns of a
factor. -/
structure IsFactor (upper : Matrix (Fin n) (Fin n) ℝ) : Prop where
  triangular : ∀ k i, i < k → upper k i = 0
  positive : ∀ k, 0 < upper k k

namespace IsFactor

private theorem isUnit (factor : IsFactor upper) : IsUnit upper := by
  rw [isUnit_iff_isUnit_det, det_of_isUpperTriangular factor.triangular, isUnit_iff_ne_zero,
    Finset.prod_ne_zero_iff]
  exact fun k _ => ne_of_gt (factor.positive k)

private theorem posDef (factor : IsFactor upper) : (upperᵀ * upper).PosDef := by
  have posDef := PosDef.conjTranspose_mul_self upper
    (mulVec_injective_of_isUnit factor.isUnit)
  rwa [conjTranspose_eq_transpose_of_trivial] at posDef

end IsFactor

private theorem Eliminated.isFactor {found : Fin n → Fin n → ℝ}
    (eliminated : Eliminated entries found) :
    IsFactor (Matrix.of found) ∧ (Matrix.of found)ᵀ * Matrix.of found = entries := by
  refine ⟨⟨fun k i before => eliminated.lower k i before,
    fun k => eliminated.positive k k rfl⟩, ?_⟩
  ext i j
  have cleared := eliminated.cleared i j i.isLt
  rw [residual, Matrix.sub_apply, sub_eq_zero, Matrix.sum_apply] at cleared
  rw [cleared, mul_apply]
  rfl

private theorem ofMatrix_eq_some (symmetric : entries.IsSymm) {factor : Cholesky Exact n}
    (factored : Cholesky.ofMatrix (matrix entries) = some factor) :
    ∃ upper, factor = ⟨matrix upper⟩ ∧ IsFactor upper ∧ upperᵀ * upper = entries := by
  rcases Option.map_eq_some_iff.mp factored with ⟨columns, eliminates, rfl⟩
  rcases firstColumns_eq_some symmetric eliminates with ⟨found, rfl, eliminated⟩
  exact ⟨Matrix.of found, rfl, eliminated.isFactor⟩

private theorem ofMatrix_of_posDef (posDef : entries.PosDef) :
    ∃ upper, Cholesky.ofMatrix (matrix entries) = some ⟨matrix upper⟩ ∧ IsFactor upper ∧
      upperᵀ * upper = entries := by
  rcases firstColumns_of_posDef posDef (Nat.le_refl n) with ⟨found, eliminates, eliminated, -⟩
  refine ⟨Matrix.of found, ?_, eliminated.isFactor⟩
  rw [Cholesky.ofMatrix, eliminates]
  rfl

/-! ## Forward substitution -/

private theorem vector_snoc (known : Fin count → ℝ) (value : ℝ) :
    vector (Fin.snoc known value : Fin (count + 1) → ℝ) = (vector known).push (real value) := by
  rw [vector, Vector.ofFn_succ]
  simp only [Fin.snoc_castSucc]
  exact congrArg _ (congrArg real (Fin.snoc_last ..))

private theorem foldl_known (known coefficient : Fin count → ℝ) (start : ℝ) :
    Fin.foldl count (fun remainder k => -(real (known k)) * real (coefficient k) + remainder)
      (real start) = real (start - ∑ k, coefficient k * known k) := by
  induction count with
  | zero => simp
  | succ count induction =>
      rw [Fin.foldl_succ_last, induction (fun k => known k.castSucc)
        (fun k => coefficient k.castSucc), Fin.sum_univ_castSucc]
      simp only [neg_eq, mul_eq, add_eq]
      congr 1
      ring

private theorem forward_real (factor : IsFactor upper) (right : Fin n → ℝ) (within : count ≤ n) :
    ∃ known : Fin count → ℝ,
      (Cholesky.mk (matrix upper)).forward (vector right) count within = vector known ∧
      ∀ i : Fin n, i.val < count →
        ∑ k : Fin count, upper (k.castLE within) i * known k = right i := by
  induction count with
  | zero => exact ⟨Fin.elim0, Vector.eq_empty, fun _ before => absurd before (Nat.not_lt_zero _)⟩
  | succ count induction =>
      rcases induction (Nat.le_of_succ_le within) with ⟨known, solved, equations⟩
      let diagonal : Fin n := ⟨count, within⟩
      let rest := right diagonal -
        ∑ k : Fin count, upper (k.castLE (Nat.le_of_succ_le within)) diagonal * known k
      refine ⟨Fin.snoc known (rest / upper diagonal diagonal), ?_, fun i before => ?_⟩
      · rw [vector_snoc, Cholesky.forward, solved]
        have remainder := foldl_known known
          (fun k => upper (k.castLE (Nat.le_of_succ_le within)) diagonal) (right diagonal)
        simp only [get_vector, get_matrix]
        congr 1
        rw [← div_eq (ne_of_gt (factor.positive diagonal))]
        exact congrArg (· / real (upper diagonal diagonal)) remainder
      · simp only [Fin.sum_univ_castSucc, Fin.snoc_castSucc, Fin.snoc_last]
        rcases Nat.lt_succ_iff_lt_or_eq.mp before with earlier | last
        · have zero : upper diagonal i = 0 := factor.triangular diagonal i earlier
          change _ + upper diagonal i * _ = _
          rw [zero, zero_mul, add_zero]
          exact equations i earlier
        · rcases (Fin.ext last : i = diagonal) with rfl
          change _ + upper diagonal diagonal * _ = _
          rw [mul_div_cancel₀ _ (ne_of_gt (factor.positive diagonal))]
          exact add_sub_cancel _ _

/-! ## Backward substitution -/

private theorem le_of_mem_drop {start : Nat} {j : Fin n}
    (member : j ∈ (List.finRange n).drop start) :
    start ≤ j.val := by
  rcases List.getElem_of_mem member with ⟨i, within, rfl⟩
  simp

private theorem drop_finRange {start : Nat} (within : start < n) :
    (List.finRange n).drop start = ⟨start, within⟩ :: (List.finRange n).drop (start + 1) := by
  rw [List.drop_eq_getElem_cons (by simpa using within)]
  simp

private theorem products_drop (row known : Fin n → ℝ) (start : Nat) :
    List.zipWith (· * ·) ((vector row).toList.drop start)
        (((List.finRange n).drop start).map fun j => real (known j)) =
      (((List.finRange n).drop start).map fun j => row j * known j).map real := by
  rw [vector, Vector.toList_ofFn, List.ofFn_eq_map, ← List.map_drop, List.zipWith_map,
    List.zipWith_self, List.map_map]
  rfl

private theorem backward_step (factor : IsFactor upper) (right known : Fin n → ℝ) (i : Fin n)
    (solved : (Cholesky.mk (matrix upper)).backward (vector right)
        ((List.finRange n).drop (i.val + 1)) =
      ((List.finRange n).drop (i.val + 1)).map fun j => real (known j)) :
    (Cholesky.mk (matrix upper)).backward (vector right) ((List.finRange n).drop i.val) =
      real ((right i - (((List.finRange n).drop (i.val + 1)).map
          fun j => upper i j * known j).sum) / upper i i) ::
        ((List.finRange n).drop (i.val + 1)).map fun j => real (known j) := by
  have opened : (Cholesky.mk (matrix upper)).backward (vector right)
      (i :: (List.finRange n).drop (i.val + 1)) =
      ((vector right).get i - Summation.interleaved (List.zipWith (· * ·)
        (((matrix upper).get i).toList.drop (i.val + 1))
        ((Cholesky.mk (matrix upper)).backward (vector right)
          ((List.finRange n).drop (i.val + 1))))) / ((matrix upper).get i).get i ::
        (Cholesky.mk (matrix upper)).backward (vector right)
          ((List.finRange n).drop (i.val + 1)) := rfl
  rw [drop_finRange i.isLt, opened, solved, get_matrix, products_drop, interleaved_real,
    get_vector, get_vector, sub_eq, div_eq (ne_of_gt (factor.positive i))]

private theorem backward_real (factor : IsFactor upper) (right : Fin n → ℝ) {start : Nat}
    (within : start ≤ n) :
    ∃ known : Fin n → ℝ,
      (Cholesky.mk (matrix upper)).backward (vector right) ((List.finRange n).drop start) =
        ((List.finRange n).drop start).map (fun j => real (known j)) ∧
      ∀ i : Fin n, start ≤ i.val →
        (((List.finRange n).drop i.val).map fun j => upper i j * known j).sum = right i := by
  -- The unknowns are found from the last one on, each from those behind it.
  induction within using Nat.decreasingInduction with
  | self =>
      refine ⟨right, ?_, fun i beyond => absurd i.isLt (Nat.not_lt_of_le beyond)⟩
      rw [List.drop_of_length_le (by simp)]
      rfl
  | of_succ start before induction =>
      rcases induction with ⟨known, solved, equations⟩
      let i : Fin n := ⟨start, before⟩
      let later := (List.finRange n).drop (start + 1)
      let value := (right i - (later.map fun j => upper i j * known j).sum) / upper i i
      have same (j : Fin n) (beyond : start + 1 ≤ j.val) :
          Function.update known i value j = known j :=
        Function.update_of_ne (Fin.ne_of_gt beyond) _ _
      refine ⟨Function.update known i value, ?_, fun j beyond => ?_⟩
      · have unchanged : later.map (fun j => real (Function.update known i value j)) =
            later.map fun j => real (known j) :=
          List.map_congr_left fun j member => congrArg real (same j (le_of_mem_drop member))
        have split : (List.finRange n).drop start = i :: later := drop_finRange before
        rw [backward_step factor right known i solved, split, List.map_cons, unchanged,
          Function.update_self]
      · rcases Nat.lt_or_eq_of_le beyond with further | diagonal
        · rw [← equations j further]
          congr 1
          apply List.map_congr_left
          intro k member
          rw [same k (Nat.le_trans further (le_of_mem_drop member))]
        · rcases (Fin.ext diagonal : i = j) with rfl
          have unchanged : later.map (fun k => upper i k * Function.update known i value k) =
              later.map fun k => upper i k * known k :=
            List.map_congr_left fun k member => by rw [same k (le_of_mem_drop member)]
          rw [drop_finRange i.isLt, List.map_cons, List.sum_cons, Function.update_self]
          change _ + (later.map _).sum = _
          rw [unchanged, mul_div_cancel₀ _ (ne_of_gt (factor.positive i)), sub_add_cancel]

/-! ## Solutions -/

private theorem sum_drop_finRange (terms : Fin n → ℝ) {start : Nat} (within : start ≤ n)
    (zero : ∀ j : Fin n, j.val < start → terms j = 0) :
    (((List.finRange n).drop start).map terms).sum = ∑ j, terms j := by
  induction start with
  | zero => rw [List.drop_zero, Fin.sum_univ_def]
  | succ start induction =>
      rw [← induction (Nat.le_of_succ_le within) fun j before => zero j (by omega),
        drop_finRange within, List.map_cons, List.sum_cons,
        zero ⟨start, within⟩ (Nat.lt_succ_self start), zero_add]

private theorem solve_real (factor : IsFactor upper) (right : Fin n → ℝ) :
    (Cholesky.mk (matrix upper)).solve (vector right) =
      vector ((upperᵀ * upper)⁻¹ *ᵥ right) := by
  rcases forward_real factor right (Nat.le_refl n) with ⟨middle, forward, lowerEquations⟩
  rcases backward_real factor middle (Nat.zero_le n) with ⟨known, backward, upperEquations⟩
  have lowerSystem : upperᵀ *ᵥ middle = right := by
    funext i
    exact lowerEquations i i.isLt
  have upperSystem : upper *ᵥ known = middle := by
    funext i
    rw [← upperEquations i (Nat.zero_le _)]
    exact (sum_drop_finRange _ (Nat.le_of_lt i.isLt) fun j before =>
      mul_eq_zero_of_left (factor.triangular i j before) _).symm
  have solved : (upperᵀ * upper)⁻¹ *ᵥ right = known := by
    have invertible := (isUnit_iff_isUnit_det _).mp factor.posDef.isUnit
    rw [← lowerSystem, ← upperSystem, mulVec_mulVec, mulVec_mulVec,
      Matrix.mul_assoc, nonsing_inv_mul _ invertible, one_mulVec]
  have toList : ((Cholesky.mk (matrix upper)).solve (vector right)).toList =
      (Cholesky.mk (matrix upper)).backward
        ((Cholesky.mk (matrix upper)).forward (vector right) n (Nat.le_refl n))
        (List.finRange n) := rfl
  rw [solved, ← Vector.toList_inj, toList, forward]
  rw [List.drop_zero] at backward
  rw [backward, vector, Vector.toList_ofFn, List.ofFn_eq_map]

private theorem inverse_real (factor : IsFactor upper) :
    (Cholesky.mk (matrix upper)).inverse = matrix (upperᵀ * upper)⁻¹ := by
  have unit (j : Fin n) : (Vector.ofFn fun i : Fin n => if i = j then (1 : Exact) else 0) =
      vector (Pi.single j 1) := by
    ext i within
    rw [Vector.getElem_ofFn, getElem_vector, Pi.single_apply]
    split <;> rfl
  have solutions : (Vector.ofFn fun j => (Cholesky.mk (matrix upper)).solve
      (Vector.ofFn fun i : Fin n => if i = j then (1 : Exact) else 0)) =
      matrix ((upperᵀ * upper)⁻¹)ᵀ := by
    apply Vector.ext
    intro j within
    simp only [Vector.getElem_ofFn, unit, solve_real factor, mulVec_single_one, getElem_matrix]
    rfl
  rw [Cholesky.inverse, solutions, transpose_matrix, transpose_transpose]

/-- On a symmetric matrix the approximation from a full Hessian is the inverse matrix,
and there is one exactly where the matrix is positive definite. -/
theorem ofHessian_eq_some (symmetric : entries.IsSymm) {inverse : RowMatrix Exact n n} :
    InverseHessian.ofHessian (matrix entries) = some inverse ↔
      entries.PosDef ∧ inverse = matrix entries⁻¹ := by
  have inverted {upper} (factor : IsFactor upper) (product : upperᵀ * upper = entries) :
      (Cholesky.mk (matrix upper)).inverse.symmetrize = matrix entries⁻¹ := by
    rw [inverse_real factor, product]
    exact symmetrize_matrix _ (symmetric.inv)
  constructor
  · intro found
    rcases Option.map_eq_some_iff.mp found with ⟨factor, factored, rfl⟩
    rcases ofMatrix_eq_some symmetric factored with ⟨upper, rfl, factor, product⟩
    exact ⟨product ▸ factor.posDef, inverted factor product⟩
  · intro inverse
    rcases inverse with ⟨posDef, rfl⟩
    rcases ofMatrix_of_posDef posDef with ⟨upper, factored, factor, product⟩
    rw [InverseHessian.ofHessian, factored, Option.map_some, inverted factor product]

end CurveFitting.Exact
